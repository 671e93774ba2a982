import Delivery.Proofs.Json.Strings
import Delivery.Proofs.Json.Written
import Delivery.Proofs.Text.Blank
set_option autoImplicit false

namespace Delivery.Json

theorem float_free_items_iff {items : List Json} : FloatFreeItems items ↔ ∀ item ∈ items, item.FloatFree := by
  induction items with
  | nil => simp [FloatFreeItems]
  | cons item rest ih => simp [FloatFreeItems, ih]

theorem float_free_members_iff {members : List (String × Json)} :
    FloatFreeMembers members ↔ ∀ entry ∈ members, entry.2.FloatFree := by
  induction members with
  | nil => simp [FloatFreeMembers]
  | cons head rest ih => simp [FloatFreeMembers, ih]

section Starts

theorem blank_of_space {c : Char} (space : Scan.isSpace c = true) : Text.isBlank c = true := by
  simp only [Scan.isSpace, Bool.or_eq_true, decide_eq_true_eq] at space
  rcases space with ((rfl | rfl) | rfl) | rfl <;> rfl

theorem skip_space_of_not_blank {c : Char} (shown : Text.isBlank c = false) (rest : List Char) :
    Scan.skipSpace (c :: rest) = c :: rest := by
  have noSpace : Scan.isSpace c = false := by
    cases space : Scan.isSpace c with
    | false => rfl
    | true => simp [blank_of_space space] at shown
  simp [Scan.skipSpace, noSpace]

def Starts (cs : List Char) : Prop :=
  ∃ c more, cs = c :: more ∧ Text.isBlank c = false ∧ c ≠ ']'

theorem starts_of_digit {c : Char} (digit : c.isDigit = true) (more : List Char) : Starts (c :: more) :=
  ⟨c, more, rfl, Text.not_blank_of_digit digit, fun same => by subst same; contradiction⟩

theorem print_starts_of {value : Json} (float : ∀ x, value = .float x → Starts x.toJsonText) :
    Starts (print value) := by
  cases value with
  | null => exact ⟨_, _, rfl, rfl, by decide⟩
  | bool b => cases b <;> exact ⟨_, _, rfl, rfl, by decide⟩
  | int n =>
      cases n with
      | ofNat n =>
          obtain ⟨c, digits, printed, digit⟩ := Scan.printed_starts n
          show Starts (Text.Decimal.ofNat n)
          rw [printed]
          exact starts_of_digit digit digits
      | negSucc n => exact ⟨_, _, rfl, rfl, by decide⟩
  | float x => exact float x rfl
  | string s => exact ⟨_, _, rfl, rfl, by decide⟩
  | array items => exact ⟨_, _, rfl, rfl, by decide⟩
  | object members => exact ⟨_, _, rfl, rfl, by decide⟩

theorem print_starts {value : Json} (floatFree : value.FloatFree) : Starts (print value) :=
  print_starts_of fun x float => by subst float; cases floatFree

end Starts

section Scalars

theorem read_value_digit {c : Char} (digit : c.isDigit = true) (rest : List Char) :
    readValue 0 (c :: rest) = Scan.number false (c :: rest) := by
  simp only [readValue, skip_space_of_not_blank (Text.not_blank_of_digit digit)]
  split <;> simp_all

theorem natural_printed {n : Nat} (fits : n ≤ Scan.maxSignificand) {rest : List Char} (stops : Scan.Stops rest) :
    readValue 0 (Text.Decimal.ofNat n ++ rest) = .ok (.int n, rest) := by
  have number := Scan.number_printed false fits stops
  obtain ⟨c, digits, printed, digit⟩ := Scan.printed_starts n
  rw [printed, List.cons_append] at number ⊢
  rw [read_value_digit digit, number]
  rfl

theorem negative_printed {n : Nat} (fits : n < 9223372036854775808) {rest : List Char} (stops : Scan.Stops rest) :
    readValue 0 ('-' :: Text.Decimal.ofNat (n + 1) ++ rest) = .ok (.int (.negSucc n), rest) := by
  have small : n + 1 ≤ Scan.maxSignificand := by
    simp only [Scan.maxSignificand]
    omega
  have within : ¬ (n + 1 = 0 ∨ 9223372036854775808 < n + 1) := by omega
  have dispatch : readValue 0 ('-' :: Text.Decimal.ofNat (n + 1) ++ rest) =
      Scan.number true (Text.Decimal.ofNat (n + 1) ++ rest) := rfl
  rw [dispatch, Scan.number_printed true small stops, Scan.wholeNumber, if_pos rfl, if_neg within]
  rfl

theorem scalar_printed {value : Json} (readable : Readable 0 value) (floatFree : value.FloatFree)
    {rest : List Char} (stops : Scan.Stops rest) : readValue 0 (print value ++ rest) = .ok (value, rest) := by
  cases value with
  | null => rfl
  | bool b => cases b <;> rfl
  | int n =>
      simp only [Readable, fitsInteger, Bool.and_eq_true, decide_eq_true_eq] at readable
      cases n with
      | ofNat n =>
          have fits : (n : Int) ≤ 18446744073709551615 := readable.2
          exact natural_printed (Int.ofNat_le.mp fits) stops
      | negSucc n => exact negative_printed (by omega) stops
  | float x => cases floatFree
  | string s =>
      have read := Scan.string_printed s rest
      simp [print, quoted, readValue, Scan.skipSpace, Scan.isSpace, read, bind, Except.bind]
  | array items => cases readable
  | object members => cases readable

end Scalars

section Items

theorem stops_printed_items (items : List Json) (rest : List Char) :
    Scan.Stops (printItems false items ++ rest) := by
  cases items <;> simp [printItems, Scan.Stops]

theorem next_item_printed (first : Bool) {item : Json} (starts : Starts (print item)) (more : List Json)
    (rest : List Char) :
    nextItem first (printItems first (item :: more) ++ rest) =
      .ok (.item (print item ++ (printItems false more ++ rest))) := by
  obtain ⟨c, tail, printed, shown, opens⟩ := starts
  have skip := skip_space_of_not_blank shown
  have comma : Scan.skipSpace (',' :: (c :: (tail ++ (printItems false more ++ rest)))) = _ :=
    skip_space_of_not_blank (by decide) _
  cases first with
  | true => simp [printItems, printed, nextItem, skip, opens]
  | false => simp [printItems, printed, nextItem, skip, comma, opens]

theorem items_printed {item : Reader Json} (items : List Json) (first : Bool) (rest : List Char) {fuel : Nat}
    (enough : items.length < fuel) (floatFree : ∀ value ∈ items, value.FloatFree)
    (reads : ∀ value ∈ items, ∀ rest, Scan.Stops rest → item (print value ++ rest) = .ok (value, rest)) :
    readItems item fuel first (printItems first items ++ rest) = .ok (items, rest) := by
  induction items generalizing fuel first with
  | nil =>
      obtain ⟨fuel, rfl⟩ := Nat.exists_eq_add_one_of_ne_zero (Nat.ne_of_gt enough)
      have closed : nextItem first (printItems first [] ++ rest) = .ok (.closed rest) := by
        cases first <;> rfl
      simp [readItems, closed, bind, Except.bind]
  | cons value more ih =>
      obtain ⟨fuel, rfl⟩ := Nat.exists_eq_add_one_of_ne_zero (Nat.ne_zero_of_lt enough)
      have step := next_item_printed first (print_starts (floatFree value List.mem_cons_self)) more rest
      have read := reads value List.mem_cons_self _ (stops_printed_items more rest)
      have others := ih false (Nat.lt_of_succ_lt_succ enough)
        (fun other member => floatFree other (List.mem_cons_of_mem _ member))
        (fun other member => reads other (List.mem_cons_of_mem _ member))
      simp [readItems, step, read, others, bind, Except.bind]

theorem items_length_le {items : List Json} (first : Bool) (floatFree : ∀ value ∈ items, value.FloatFree) :
    items.length ≤ (printItems first items).length := by
  induction items generalizing first with
  | nil => simp
  | cons value more ih =>
      obtain ⟨c, tail, printed, _⟩ := print_starts (floatFree value List.mem_cons_self)
      have others := ih false fun other member => floatFree other (List.mem_cons_of_mem _ member)
      simp only [printItems, printed, List.length_append, List.length_cons]
      omega

end Items

section Members

theorem stops_printed_members (members : List (String × Json)) (rest : List Char) :
    Scan.Stops (printMembers false members ++ rest) := by
  cases members <;> simp [printMembers, Scan.Stops]

theorem next_key_printed (first : Bool) (key : String) (value : Json) (more : List (String × Json))
    (rest : List Char) :
    nextKey first (printMembers first ((key, value) :: more) ++ rest) =
      .ok (.item (key.toList.flatMap escapeChar ++
        '"' :: ':' :: (print value ++ (printMembers false more ++ rest)))) := by
  cases first <;> simp [printMembers, quoted, nextKey, Scan.skipSpace, Scan.isSpace]

theorem members_printed {value : Reader Json} (members : List (String × Json)) (first : Bool) (rest : List Char)
    {fuel : Nat} (enough : members.length < fuel)
    (reads : ∀ entry ∈ members, ∀ rest, Scan.Stops rest → value (print entry.2 ++ rest) = .ok (entry.2, rest)) :
    listMembers value fuel first (printMembers first members ++ rest) = .ok (members, rest) := by
  induction members generalizing fuel first with
  | nil =>
      obtain ⟨fuel, rfl⟩ := Nat.exists_eq_add_one_of_ne_zero (Nat.ne_of_gt enough)
      have closed : nextKey first (printMembers first [] ++ rest) = .ok (.closed rest) := by
        cases first <;> rfl
      simp [listMembers, closed, bind, Except.bind]
  | cons head more ih =>
      obtain ⟨key, member⟩ := head
      obtain ⟨fuel, rfl⟩ := Nat.exists_eq_add_one_of_ne_zero (Nat.ne_zero_of_lt enough)
      have name := Scan.string_printed key (':' :: (print member ++ (printMembers false more ++ rest)))
      have mark : colon (':' :: (print member ++ (printMembers false more ++ rest))) = .ok _ := rfl
      have read := reads (key, member) List.mem_cons_self _ (stops_printed_members more rest)
      have others := ih false (Nat.lt_of_succ_lt_succ enough)
        (fun other present => reads other (List.mem_cons_of_mem _ present))
      simp [listMembers, next_key_printed, name, mark, read, others, bind, Except.bind]

theorem members_length_le (members : List (String × Json)) (first : Bool) :
    members.length ≤ (printMembers first members).length := by
  induction members generalizing first with
  | nil => simp
  | cons head more ih =>
      have others := ih false
      simp only [printMembers, quoted, List.length_append, List.length_cons]
      omega

end Members

section Values

variable {depth : Nat} {cs rest after : List Char}

theorem read_written_array {items : List Json} (starts : Scan.skipSpace cs = '[' :: rest)
    (read : readItems (readWritten depth) (rest.length + 1) true rest = .ok (items, after)) :
    readWritten (depth + 1) cs = .ok (.array items, after) := by
  simp [readWritten, starts, read, bind, Except.bind]

theorem read_written_object {members : List (String × Json)} (starts : Scan.skipSpace cs = '{' :: rest)
    (read : listMembers (readWritten depth) (rest.length + 1) true rest = .ok (members, after)) :
    readWritten (depth + 1) cs = .ok (.object members, after) := by
  simp [readWritten, starts, read, bind, Except.bind]

theorem read_written_of_scalar {found : Json × List Char} (read : readValue 0 cs = .ok found) :
    readWritten depth cs = .ok found := by
  cases depth with
  | zero => exact read
  | succ depth =>
      simp only [readWritten]
      split
      · next starts => simp [readValue, starts] at read
      · next starts => simp [readValue, starts] at read
      · exact read

theorem read_written_printed {value : Json} (readable : Readable depth value) (floatFree : value.FloatFree)
    (stops : Scan.Stops rest) : readWritten depth (print value ++ rest) = .ok (value, rest) := by
  induction depth generalizing value rest with
  | zero => exact scalar_printed readable floatFree stops
  | succ depth ih =>
      cases value with
      | array items =>
          have each := float_free_items_iff.mp floatFree
          have enough : items.length < (printItems true items ++ rest).length + 1 := by
            have := items_length_le true each
            simp only [List.length_append]
            omega
          exact read_written_array rfl (items_printed items true rest enough each
            fun item member _ stops => ih (readable item member) (each item member) stops)
      | object members =>
          have each := float_free_members_iff.mp floatFree
          have enough : members.length < (printMembers true members ++ rest).length + 1 := by
            have := members_length_le members true
            simp only [List.length_append]
            omega
          exact read_written_object rfl (members_printed members true rest enough
            fun entry member _ stops => ih (readable.2 entry member) (each entry member) stops)
      | null => exact read_written_of_scalar (scalar_printed (by trivial) floatFree stops)
      | bool b => exact read_written_of_scalar (scalar_printed (by trivial) floatFree stops)
      | int n => exact read_written_of_scalar (scalar_printed (by exact readable) floatFree stops)
      | float x => cases floatFree
      | string s => exact read_written_of_scalar (scalar_printed (by trivial) floatFree stops)

end Values

section Texts

variable {value : Json}

theorem as_written_compact (readable : Readable depthLimit value) (floatFree : value.FloatFree) :
    asWritten value.compact = .ok value := by
  have read : readWritten depthLimit (print value ++ []) = .ok (value, []) :=
    read_written_printed readable floatFree trivial
  rw [List.append_nil] at read
  exact whole_of_read (by rwa [compact, String.toList_ofList])

/-- A value without floating-point numbers is read again from its text, if some text said it before. -/
theorem parse_compact (readable : Readable depthLimit value) (floatFree : value.FloatFree) :
    parse value.compact = .ok value := by
  rw [parse_eq_settled, as_written_compact readable floatFree, Except.map, settled_of_readable readable]

end Texts

end Delivery.Json
