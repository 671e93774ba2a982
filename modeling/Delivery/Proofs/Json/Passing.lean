import Mathlib.Data.List.DropRight
import Mathlib.Data.List.TakeWhile
import Delivery.Proofs.Json.Spelling
set_option autoImplicit false

namespace Delivery.Json

section Shorter

variable {cs rest : List Char}

theorem skip_space_shorter {c : Char} {more : List Char} (starts : Scan.skipSpace cs = c :: more) :
    more.length < cs.length := by
  have shorter := List.length_dropWhile_le Scan.isSpace cs
  rw [← Scan.skipSpace, starts, List.length_cons] at shorter
  omega

theorem skipped_chars_shorter {fuel : Nat} (passed : Skip.stringChars fuel cs = .ok rest) :
    rest.length < cs.length := by
  induction fuel generalizing cs with
  | zero => simp [Skip.stringChars] at passed
  | succ fuel ih =>
      cases cs with
      | nil => simp [Skip.stringChars] at passed
      | cons c more =>
          rw [Skip.stringChars] at passed
          rw [List.length_cons]
          split at passed
          · cases passed
            omega
          · split at passed
            · obtain ⟨after, escaped, passed⟩ := bind_ok passed
              have shorter := Skip.escape_shorter escaped
              have later := ih passed
              omega
            · split at passed
              · simp at passed
              · have later := ih passed
                omega

theorem string_shorter {s : String} (read : Scan.string cs = .ok (s, rest)) : rest.length < cs.length :=
  skipped_chars_shorter (Skip.string_skipped read)

theorem leading_digits_shorter (passed : Skip.leadingDigits cs = .ok rest) : rest.length < cs.length := by
  cases cs with
  | nil => simp [Skip.leadingDigits] at passed
  | cons c more =>
      rw [Skip.leadingDigits] at passed
      split at passed
      · cases passed
        exact Nat.lt_succ_of_le (List.length_dropWhile_le _ more)
      · simp at passed

theorem unsigned_shorter (cs : List Char) : (Text.Decimal.unsigned cs).length ≤ cs.length := by
  unfold Text.Decimal.unsigned
  split <;> simp

theorem exponent_or_end_shorter (passed : Skip.exponentOrEnd cs = .ok rest) : rest.length ≤ cs.length := by
  have signed : ∀ {more : List Char}, Skip.exponentPart more = .ok rest → rest.length < more.length := by
    intro more passed
    rw [Skip.exponent_part_eq] at passed
    exact (leading_digits_shorter passed).trans_le (unsigned_shorter more)
  rw [Skip.exponentOrEnd.eq_def] at passed
  split at passed
  · exact (signed passed).le.trans (Nat.le_succ _)
  · exact (signed passed).le.trans (Nat.le_succ _)
  · cases passed
    exact le_rfl

theorem after_digits_shorter (passed : Skip.afterDigits cs = .ok rest) : rest.length ≤ cs.length := by
  rw [Skip.afterDigits.eq_def] at passed
  split at passed
  · next more =>
      split at passed
      · exact (exponent_or_end_shorter passed).trans ((List.length_dropWhile_le _ more).trans (Nat.le_succ _))
      · simp at passed
  · exact exponent_or_end_shorter passed

theorem number_shorter (passed : Skip.number cs = .ok rest) : rest.length < cs.length := by
  cases cs with
  | nil => simp [Skip.number] at passed
  | cons c more =>
      rw [Skip.number] at passed
      split at passed
      · split at passed
        · simp at passed
        · exact Nat.lt_succ_of_le (after_digits_shorter passed)
      · split at passed
        · exact Nat.lt_succ_of_le ((after_digits_shorter passed).trans (List.length_dropWhile_le _ more))
        · simp at passed

theorem spelled_number_shorter (spelled : SpelledNumber (Scan.skipSpace cs) rest) : rest.length < cs.length := by
  have shorter := List.length_dropWhile_le Scan.isSpace cs
  rw [← Scan.skipSpace] at shorter
  generalize Scan.skipSpace cs = shown at spelled shorter
  cases spelled with
  | negative passed => exact ((number_shorter passed).trans (Nat.lt_succ_self _)).trans_le shorter
  | natural digit passed => exact (number_shorter passed).trans_le shorter

theorem next_item_shorter {first : Bool} {body : List Char} (found : nextItem first cs = .ok (.item body)) :
    body.length ≤ cs.length := by
  have within := List.length_dropWhile_le Scan.isSpace cs
  rw [← Scan.skipSpace] at within
  cases next_item_iff.mp found with
  | first starts opens =>
      rw [starts] at within
      exact within
  | later starts next opens =>
      have shorter := skip_space_shorter starts
      have more := skip_space_shorter next
      rw [List.length_cons]
      omega

theorem next_key_shorter {first : Bool} {quoted : List Char} (found : nextKey first cs = .ok (.item quoted)) :
    quoted.length < cs.length := by
  cases next_key_iff.mp found with
  | first starts => exact skip_space_shorter starts
  | later starts next => exact (skip_space_shorter next).trans (skip_space_shorter starts)

mutual
theorem spelled_shorter : ∀ {value : Json} {cs rest : List Char}, value.Spelled cs rest → rest.length < cs.length
  | .null, _, _, spelled => by have := skip_space_shorter spelled; simp only [List.length_cons] at this; omega
  | .bool true, _, _, spelled => by have := skip_space_shorter spelled; simp only [List.length_cons] at this; omega
  | .bool false, _, _, spelled => by have := skip_space_shorter spelled; simp only [List.length_cons] at this; omega
  | .int _, _, _, spelled => spelled_number_shorter spelled
  | .float _, _, _, spelled => spelled_number_shorter spelled
  | .string _, _, _, ⟨_, starts, read⟩ => (string_shorter read).trans (skip_space_shorter starts)
  | .array _, _, _, ⟨_, starts, items⟩ => (spelled_items_shorter items).trans (skip_space_shorter starts)
  | .object _, _, _, ⟨_, starts, members⟩ => (spelled_members_shorter members).trans (skip_space_shorter starts)

theorem spelled_items_shorter : ∀ {items : List Json} {first : Bool} {cs rest : List Char},
    SpelledItems items first cs rest → rest.length < cs.length
  | [], _, _, _, closed => by
      cases next_item_iff.mp closed with
      | closed starts => exact skip_space_shorter starts
  | _ :: _, _, _, _, ⟨_, _, next, item, more⟩ =>
      ((spelled_items_shorter more).trans (spelled_shorter item)).trans_le (next_item_shorter next)

theorem spelled_members_shorter : ∀ {members : List (String × Json)} {first : Bool} {cs rest : List Char},
    SpelledMembers members first cs rest → rest.length < cs.length
  | [], _, _, _, closed => by
      cases next_key_iff.mp closed with
      | closed starts => exact skip_space_shorter starts
  | (_, _) :: _, _, _, _, ⟨_, _, _, _, next, name, mark, value, more⟩ =>
      ((((spelled_members_shorter more).trans (spelled_shorter value)).trans
        (skip_space_shorter (colon_iff.mp mark))).trans (string_shorter name)).trans (next_key_shorter next)
end

end Shorter

section Passed

open Skip

variable {frames : List Frame} {cs rest : List Char}

theorem spelled_from {start : List Char} (same : Scan.skipSpace start = Scan.skipSpace cs) {value : Json}
    (spelled : value.Spelled cs rest) : value.Spelled start rest := by
  cases value with
  | bool b => cases b <;> exact same.trans spelled
  | null => exact same.trans spelled
  | int n =>
      show SpelledNumber (Scan.skipSpace start) rest
      rw [same]
      exact spelled
  | float x =>
      show SpelledNumber (Scan.skipSpace start) rest
      rw [same]
      exact spelled
  | string s =>
      obtain ⟨body, starts, read⟩ := spelled
      exact ⟨body, same.trans starts, read⟩
  | array items =>
      obtain ⟨body, starts, read⟩ := spelled
      exact ⟨body, same.trans starts, read⟩
  | object members =>
      obtain ⟨body, starts, read⟩ := spelled
      exact ⟨body, same.trans starts, read⟩

theorem number_passed (spelled : SpelledNumber (Scan.skipSpace cs) rest) (fuel : Nat) :
    run (fuel + 1) .value frames cs = run fuel (.follower true) frames rest := by
  generalize starts : Scan.skipSpace cs = shown at spelled
  cases spelled with
  | negative passed => simp [run, starts, passed, bind, Except.bind]
  | natural digit passed =>
      simp only [run, starts]
      split <;> simp_all [bind, Except.bind]

theorem key_passed {quoted named body : List Char} {name : String} (starts : Scan.skipSpace cs = '"' :: quoted)
    (read : Scan.string quoted = .ok (name, named)) (mark : colon named = .ok body) : key cs = .ok body := by
  simp [key, starts, string_skipped read, mark, bind, Except.bind]

theorem scalar_passed {value : Json} (noArray : ∀ items, value ≠ .array items)
    (noObject : ∀ members, value ≠ .object members) (spelled : value.Spelled cs rest) (fuel : Nat) :
    run (fuel + 1) .value frames cs = run fuel (.follower true) frames rest := by
  cases value with
  | null =>
      have starts : Scan.skipSpace cs = _ := spelled
      simp [run, starts, Scan.word, bind, Except.bind]
  | bool b =>
      cases b with
      | true =>
          have starts : Scan.skipSpace cs = _ := spelled
          simp [run, starts, Scan.word, bind, Except.bind]
      | false =>
          have starts : Scan.skipSpace cs = _ := spelled
          simp [run, starts, Scan.word, bind, Except.bind]
  | int n => exact number_passed spelled fuel
  | float x => exact number_passed spelled fuel
  | string s =>
      obtain ⟨body, starts, read⟩ := spelled
      simp [run, starts, string_skipped read, bind, Except.bind]
  | array items => exact absurd rfl (noArray items)
  | object members => exact absurd rfl (noObject members)

-- Passing starts behind the comma, where reading starts behind the blanks that follow it.
theorem item_passed {first : Bool} {body : List Char} (next : nextItem first cs = .ok (.item body)) :
    ∃ start, Scan.skipSpace start = Scan.skipSpace body ∧ start.length ≤ cs.length ∧ ∀ fuel,
      run (fuel + 1) (.follower !first) (.array :: frames) cs = run fuel .value (.array :: frames) start := by
  cases next_item_iff.mp next with
  | first starts opens =>
      refine ⟨_, rfl, next_item_shorter next, fun fuel => ?_⟩
      simp [run, starts, opens, intoItem, bind, Except.bind]
  | @later _ more _ _ starts begins opens =>
      have again : Scan.skipSpace (Scan.skipSpace more) = Scan.skipSpace more := List.dropWhile_idempotent _ more
      refine ⟨more, ?_, (skip_space_shorter starts).le, fun fuel => ?_⟩
      · rw [← begins, again]
      · simp [run, starts, intoItem, bind, Except.bind]

theorem member_passed {first : Bool} {quoted named body : List Char} {name : String}
    (next : nextKey first cs = .ok (.item quoted)) (read : Scan.string quoted = .ok (name, named))
    (mark : colon named = .ok body) (fuel : Nat) :
    run (fuel + 1) (.follower !first) (.object :: frames) cs = run fuel .value (.object :: frames) body := by
  cases next_key_iff.mp next with
  | first starts =>
      have shown : Scan.skipSpace ('"' :: quoted) = '"' :: quoted := rfl
      simp [run, starts, intoItem, key_passed shown read mark, bind, Except.bind]
  | later starts begins => simp [run, starts, intoItem, key_passed begins read mark, bind, Except.bind]

-- One step takes at least one character, but for the step into the first item of an array or the first member of an
-- object. So twice the length is fuel enough, with some left for what stands behind.
mutual
theorem spelled_passed (value : Json) {cs rest : List Char} {fuel : Nat} (frames : List Frame)
    (spelled : value.Spelled cs rest) (enough : 2 * cs.length + 2 ≤ fuel) :
    ∃ left, 2 * rest.length + 3 ≤ left ∧ run fuel .value frames cs = run left (.follower true) frames rest := by
  have shorter := spelled_shorter spelled
  obtain ⟨fuel, rfl⟩ := Nat.exists_eq_add_one_of_ne_zero (Nat.ne_zero_of_lt (Nat.lt_of_succ_le enough))
  cases value with
  | array items =>
      obtain ⟨body, starts, inside⟩ := spelled
      have within := skip_space_shorter starts
      obtain ⟨left, more, passed⟩ := items_passed items true frames inside (show _ ≤ fuel by omega)
      refine ⟨left, more, ?_⟩
      rw [← passed, run, starts]
      rfl
  | object members =>
      obtain ⟨body, starts, inside⟩ := spelled
      have within := skip_space_shorter starts
      obtain ⟨left, more, passed⟩ := members_passed members true frames inside (show _ ≤ fuel by omega)
      refine ⟨left, more, ?_⟩
      rw [← passed, run, starts]
      rfl
  | _ => exact ⟨fuel, by omega, scalar_passed (by simp) (by simp) spelled fuel⟩

theorem items_passed (items : List Json) (first : Bool) {cs rest : List Char} {fuel : Nat} (frames : List Frame)
    (spelled : SpelledItems items first cs rest) (enough : 2 * cs.length + 3 ≤ fuel) :
    ∃ left, 2 * rest.length + 3 ≤ left ∧
      run fuel (.follower !first) (.array :: frames) cs = run left (.follower true) frames rest := by
  obtain ⟨fuel, rfl⟩ := Nat.exists_eq_add_one_of_ne_zero (Nat.ne_zero_of_lt (Nat.lt_of_succ_le enough))
  cases items with
  | nil =>
      cases next_item_iff.mp spelled with
      | closed starts =>
          have shorter := skip_space_shorter starts
          exact ⟨fuel, by omega, by simp [run, starts]⟩
  | cons item more =>
      obtain ⟨body, after, next, inside, others⟩ := spelled
      obtain ⟨start, same, shorter, step⟩ := item_passed next
      obtain ⟨left, behind, passed⟩ :=
        spelled_passed item (.array :: frames) (spelled_from same inside) (show _ ≤ fuel by omega)
      obtain ⟨last, enough, closed⟩ := items_passed more false frames others behind
      exact ⟨last, enough, (step fuel).trans (passed.trans closed)⟩

theorem members_passed (members : List (String × Json)) (first : Bool) {cs rest : List Char} {fuel : Nat}
    (frames : List Frame) (spelled : SpelledMembers members first cs rest) (enough : 2 * cs.length + 3 ≤ fuel) :
    ∃ left, 2 * rest.length + 3 ≤ left ∧
      run fuel (.follower !first) (.object :: frames) cs = run left (.follower true) frames rest := by
  obtain ⟨fuel, rfl⟩ := Nat.exists_eq_add_one_of_ne_zero (Nat.ne_zero_of_lt (Nat.lt_of_succ_le enough))
  cases members with
  | nil =>
      cases next_key_iff.mp spelled with
      | closed starts =>
          have shorter := skip_space_shorter starts
          exact ⟨fuel, by omega, by simp [run, starts]⟩
  | cons member more =>
      obtain ⟨name, value⟩ := member
      obtain ⟨quoted, named, body, after, next, read, mark, inside, others⟩ := spelled
      have shorter := ((skip_space_shorter (colon_iff.mp mark)).trans (string_shorter read)).trans
        (next_key_shorter next)
      obtain ⟨left, behind, passed⟩ :=
        spelled_passed value (.object :: frames) inside (show _ ≤ fuel by omega)
      obtain ⟨last, enough, closed⟩ := members_passed more false frames others behind
      exact ⟨last, enough, (member_passed next read mark fuel).trans (passed.trans closed)⟩
end

/-- Where a value is spelled, passing over it leaves what stands behind. -/
theorem value_passed {value : Json} (spelled : value.Spelled cs rest) : Skip.value cs = .ok rest := by
  obtain ⟨left, enough, passed⟩ := spelled_passed value [] spelled le_rfl
  obtain ⟨left, rfl⟩ := Nat.exists_eq_add_one_of_ne_zero (n := left) (by omega)
  exact passed.trans (by rw [run])

end Passed

end Delivery.Json
