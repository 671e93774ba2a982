import Delivery.Proofs.Json.RoundTrip
import Delivery.Proofs.Text.Utf8
set_option autoImplicit false

namespace Delivery.Json

section Blanks

inductive Standing where
  | outside
  | inside
  | escaped
  deriving DecidableEq, Repr

def Standing.after : Standing → Char → Standing
  | .outside, c => if c = '"' then .inside else .outside
  | .inside, c => if c = '"' then .outside else if c = '\\' then .escaped else .inside
  | .escaped, _ => .inside

def unquoted : Standing → List Char → List Char
  | _, [] => []
  | standing, c :: rest =>
      (if standing = .outside then [c] else []) ++ unquoted (standing.after c) rest

def Unspaced (cs : List Char) : Prop :=
  ∀ c ∈ unquoted .outside cs, Text.isBlank c = false

theorem unspaced_cons {c : Char} (plain : c ≠ '"') (rest : List Char) :
    Unspaced (c :: rest) ↔ Text.isBlank c = false ∧ Unspaced rest := by
  simp [Unspaced, unquoted, Standing.after, plain]

theorem unspaced_append {text : List Char} (plain : ∀ c ∈ text, c ≠ '"' ∧ Text.isBlank c = false)
    {rest : List Char} (unspaced : Unspaced rest) : Unspaced (text ++ rest) := by
  induction text with
  | nil => exact unspaced
  | cons c more ih =>
      have here := plain c List.mem_cons_self
      have later := ih fun other member => plain other (List.mem_cons_of_mem _ member)
      exact (unspaced_cons here.1 _).mpr ⟨here.2, later⟩

theorem digits_plain {n : Nat} : ∀ c ∈ Text.Decimal.ofNat n, c ≠ '"' ∧ Text.isBlank c = false := by
  intro c member
  have digit := Scan.digit_of_mem member
  exact ⟨fun same => by subst same; contradiction, Text.not_blank_of_digit digit⟩

theorem hex_digit_plain : ∀ digit < 16, hexDigit digit ≠ '"' ∧ hexDigit digit ≠ '\\' := by decide

theorem unquoted_escaped (c : Char) (rest : List Char) :
    unquoted .inside (escapeChar c ++ rest) = unquoted .inside rest := by
  have high : c.toNat < 32 → hexDigit (c.toNat / 16) ≠ '"' ∧ hexDigit (c.toNat / 16) ≠ '\\' :=
    fun control => hex_digit_plain _ (by omega)
  have low := hex_digit_plain (c.toNat % 16) (by omega)
  unfold escapeChar
  split_ifs <;> simp_all [unquoted, Standing.after]

theorem unquoted_quoted (s : String) (rest : List Char) :
    unquoted .outside (quoted s ++ rest) = '"' :: unquoted .outside rest := by
  have body : ∀ chars : List Char, unquoted .inside (chars.flatMap escapeChar ++ '"' :: rest) =
      unquoted .outside rest := by
    intro chars
    induction chars with
    | nil => simp [unquoted, Standing.after]
    | cons c more ih => rw [List.flatMap_cons, List.append_assoc, unquoted_escaped, ih]
  simp [quoted, unquoted, Standing.after, body]

theorem unspaced_quoted (s : String) {rest : List Char} (unspaced : Unspaced rest) :
    Unspaced (quoted s ++ rest) := by
  rw [Unspaced, unquoted_quoted]
  simpa using ⟨by decide, unspaced⟩

mutual
theorem unspaced_printed : ∀ {value : Json} {rest : List Char}, value.FloatFree → Unspaced rest →
    Unspaced (print value ++ rest)
  | .null, _, _, unspaced => by simpa [print, unspaced_cons, Text.isBlank] using unspaced
  | .bool true, _, _, unspaced => by simpa [print, unspaced_cons, Text.isBlank] using unspaced
  | .bool false, _, _, unspaced => by simpa [print, unspaced_cons, Text.isBlank] using unspaced
  | .int (.ofNat n), _, _, unspaced => unspaced_append digits_plain unspaced
  | .int (.negSucc n), _, _, unspaced =>
      (unspaced_cons (by decide) _).mpr ⟨by decide, unspaced_append digits_plain unspaced⟩
  | .float _, _, floatFree, _ => floatFree.elim
  | .string s, _, _, unspaced => unspaced_quoted s unspaced
  | .array _, _, floatFree, unspaced =>
      (unspaced_cons (by decide) _).mpr ⟨by decide, unspaced_printed_items true floatFree unspaced⟩
  | .object _, _, floatFree, unspaced =>
      (unspaced_cons (by decide) _).mpr ⟨by decide, unspaced_printed_members true floatFree unspaced⟩

theorem unspaced_printed_items : ∀ (first : Bool) {items : List Json} {rest : List Char},
    FloatFreeItems items → Unspaced rest → Unspaced (printItems first items ++ rest)
  | _, [], _, _, unspaced => (unspaced_cons (by decide) _).mpr ⟨by decide, unspaced⟩
  | first, item :: more, rest, floatFree, unspaced => by
      have later := unspaced_printed floatFree.1 (unspaced_printed_items false floatFree.2 unspaced)
      cases first with
      | true => simpa [printItems] using later
      | false => simpa [printItems, unspaced_cons] using ⟨by decide, later⟩

theorem unspaced_printed_members : ∀ (first : Bool) {members : List (String × Json)} {rest : List Char},
    FloatFreeMembers members → Unspaced rest → Unspaced (printMembers first members ++ rest)
  | _, [], _, _, unspaced => (unspaced_cons (by decide) _).mpr ⟨by decide, unspaced⟩
  | first, (key, value) :: more, rest, floatFree, unspaced => by
      have after := unspaced_printed floatFree.1 (unspaced_printed_members false floatFree.2 unspaced)
      have named := unspaced_quoted key ((unspaced_cons (show ':' ≠ '"' by decide) _).mpr ⟨by decide, after⟩)
      cases first with
      | true => simpa [printMembers] using named
      | false => simpa [printMembers, unspaced_cons] using ⟨by decide, named⟩
end

theorem unspaced_compact {value : Json} (floatFree : value.FloatFree) : Unspaced value.compact.toList := by
  have nothing : Unspaced [] := by simp [Unspaced, unquoted]
  have printed : Unspaced (print value ++ []) := unspaced_printed floatFree nothing
  rwa [List.append_nil, ← String.toList_ofList (l := print value)] at printed

end Blanks

section Ends

theorem last_printed_item (first : Bool) (items : List Json) : (printItems first items).getLast? = some ']' := by
  induction items generalizing first with
  | nil => rfl
  | cons item more ih => simp [printItems, List.getLast?_append, ih]

theorem last_printed_member (first : Bool) (members : List (String × Json)) :
    (printMembers first members).getLast? = some '}' := by
  induction members generalizing first with
  | nil => rfl
  | cons head more ih => simp [printMembers, List.getLast?_append, List.getLast?_cons, ih]

theorem print_ends {value : Json} (floatFree : value.FloatFree) :
    ∀ c ∈ (print value).getLast?, Text.isBlank c = false := by
  cases value with
  | null => simp [print, Text.isBlank]
  | bool b => cases b <;> simp [print, Text.isBlank]
  | int n =>
      cases n with
      | ofNat n => exact fun c last => (digits_plain c (List.mem_of_getLast? last)).2
      | negSucc n =>
          intro c last
          rcases List.mem_cons.mp (List.mem_of_getLast? last) with rfl | digit
          · rfl
          · exact (digits_plain c digit).2
  | float x => cases floatFree
  | string s => simp [print, quoted, List.getLast?_cons, Text.isBlank]
  | array items => simp [print, List.getLast?_cons, last_printed_item, Text.isBlank]
  | object members => simp [print, List.getLast?_cons, last_printed_member, Text.isBlank]

theorem trim_compact {value : Json} (floatFree : value.FloatFree) : Text.trim value.compact = value.compact := by
  obtain ⟨c, more, printed, shown, _⟩ := print_starts floatFree
  have left : Text.trimLeft (print value) = print value :=
    Text.drop_blanks_of_shown (by simpa [printed] using shown)
  have right : Text.trimRight (print value) = print value := by
    rw [Text.trimRight, Text.drop_blanks_of_shown (by simpa using print_ends floatFree), List.reverse_reverse]
  rw [Text.trim, compact, String.toList_ofList, Text.trimChars, left, right]

theorem compact_ne_empty {value : Json} (floatFree : value.FloatFree) : value.compact ≠ "" := by
  obtain ⟨c, more, printed, _⟩ := print_starts floatFree
  intro empty
  have none : print value = [] := by simpa [compact] using congrArg String.toList empty
  simp [printed] at none

end Ends

section Keys

inductive Within (part : Json) : Json → Prop where
  | whole : Within part part
  | item {item : Json} {items : List Json} (member : item ∈ items) (inner : Within part item) :
      Within part (.array items)
  | member {entry : String × Json} {members : List (String × Json)} (present : entry ∈ members)
      (inner : Within part entry.2) : Within part (.object members)

theorem readable_within {depth : Nat} {part value : Json} (within : Within part value)
    (readable : Readable depth value) : ∃ inner, Readable inner part := by
  induction within generalizing depth with
  | whole => exact ⟨depth, readable⟩
  | item member _ ih =>
      cases depth with
      | zero => cases readable
      | succ depth => exact ih (readable _ member)
  | member present _ ih =>
      cases depth with
      | zero => cases readable
      | succ depth => exact ih (readable.2 _ present)

def KeysAscend (value : Json) : Prop :=
  ∀ members, Within (.object members) value →
    members.Pairwise fun first second => Text.Utf8.bytes first.1 < Text.Utf8.bytes second.1

theorem keys_ascend_of_readable {depth : Nat} {value : Json} (readable : Readable depth value) :
    value.KeysAscend := by
  intro members within
  obtain ⟨inner, object⟩ := readable_within within readable
  cases inner with
  | zero => cases object
  | succ inner => exact object.1.imp Text.Utf8.bytes_lt_of_compare

end Keys

end Delivery.Json
