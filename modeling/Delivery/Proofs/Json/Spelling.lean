import Delivery.Proofs.Json.Numerals
import Delivery.Proofs.Json.RoundTrip
set_option autoImplicit false

namespace Delivery.Json

section Steps

inductive ItemStep : Bool → List Char → Step → Prop where
  | closed {first : Bool} {cs rest : List Char} (starts : Scan.skipSpace cs = ']' :: rest) :
      ItemStep first cs (.closed rest)
  | first {cs more : List Char} {c : Char} (starts : Scan.skipSpace cs = c :: more) (opens : c ≠ ']') :
      ItemStep true cs (.item (c :: more))
  | later {cs more others : List Char} {c : Char} (starts : Scan.skipSpace cs = ',' :: more)
      (next : Scan.skipSpace more = c :: others) (opens : c ≠ ']') : ItemStep false cs (.item (c :: others))

theorem next_item_iff {first : Bool} {cs : List Char} {step : Step} :
    nextItem first cs = .ok step ↔ ItemStep first cs step := by
  constructor
  · intro found
    unfold nextItem at found
    split at found
    · simp at found
    · next c more starts =>
        split at found
        · next closing =>
            cases found
            exact .closed (closing ▸ starts)
        · next opens =>
            split at found
            · next front =>
                cases found
                exact front ▸ .first starts opens
            · next behind =>
                split at found
                · next comma =>
                    split at found
                    · simp at found
                    · simp at found
                    · next none bracket =>
                        cases found
                        obtain ⟨d, others, next⟩ := List.exists_cons_of_ne_nil none
                        have first : first = false := by simpa using behind
                        rw [next, first]
                        refine .later (comma ▸ starts) next fun same => bracket others (same ▸ next)
                · simp at found
  · intro begins
    cases begins with
    | closed starts => simp [nextItem, starts]
    | first starts opens => simp [nextItem, starts, opens]
    | later starts next opens => simp [nextItem, starts, next, opens]

inductive KeyStep : Bool → List Char → Step → Prop where
  | closed {first : Bool} {cs rest : List Char} (starts : Scan.skipSpace cs = '}' :: rest) :
      KeyStep first cs (.closed rest)
  | first {cs rest : List Char} (starts : Scan.skipSpace cs = '"' :: rest) : KeyStep true cs (.item rest)
  | later {cs more rest : List Char} (starts : Scan.skipSpace cs = ',' :: more)
      (next : Scan.skipSpace more = '"' :: rest) : KeyStep false cs (.item rest)

theorem next_key_iff {first : Bool} {cs : List Char} {step : Step} :
    nextKey first cs = .ok step ↔ KeyStep first cs step := by
  constructor
  · intro found
    unfold nextKey at found
    split at found
    · simp at found
    · next c more starts =>
        split at found
        · next closing =>
            cases found
            exact .closed (closing ▸ starts)
        · split at found
          · next front =>
              split at found
              · next quote =>
                  cases found
                  exact front ▸ .first (quote ▸ starts)
              · simp at found
          · next behind =>
              split at found
              · next comma =>
                  split at found
                  · simp at found
                  · next next =>
                      cases found
                      have first : first = false := by simpa using behind
                      exact first ▸ .later (comma ▸ starts) next
                  · simp at found
                  · simp at found
              · simp at found
  · intro begins
    cases begins with
    | closed starts => simp [nextKey, starts]
    | first starts => simp [nextKey, starts]
    | later starts next => simp [nextKey, starts, next]

theorem colon_iff {cs rest : List Char} : colon cs = .ok rest ↔ Scan.skipSpace cs = ':' :: rest := by
  constructor
  · intro found
    unfold colon at found
    split at found
    · simp at found
    · next starts =>
        cases found
        exact starts
    · simp at found
  · intro starts
    simp [colon, starts]

end Steps

inductive SpelledNumber : List Char → List Char → Prop where
  | negative {cs rest : List Char} (passed : Skip.number cs = .ok rest) : SpelledNumber ('-' :: cs) rest
  | natural {c : Char} {cs rest : List Char} (digit : c.isDigit = true) (passed : Skip.number (c :: cs) = .ok rest) :
      SpelledNumber (c :: cs) rest

mutual
def Spelled : Json → List Char → List Char → Prop
  | .null, cs, rest => Scan.skipSpace cs = 'n' :: 'u' :: 'l' :: 'l' :: rest
  | .bool true, cs, rest => Scan.skipSpace cs = 't' :: 'r' :: 'u' :: 'e' :: rest
  | .bool false, cs, rest => Scan.skipSpace cs = 'f' :: 'a' :: 'l' :: 's' :: 'e' :: rest
  | .int _, cs, rest => SpelledNumber (Scan.skipSpace cs) rest
  | .float _, cs, rest => SpelledNumber (Scan.skipSpace cs) rest
  | .string s, cs, rest => ∃ body, Scan.skipSpace cs = '"' :: body ∧ Scan.string body = .ok (s, rest)
  | .array items, cs, rest => ∃ body, Scan.skipSpace cs = '[' :: body ∧ SpelledItems items true body rest
  | .object members, cs, rest => ∃ body, Scan.skipSpace cs = '{' :: body ∧ SpelledMembers members true body rest

def SpelledItems : List Json → Bool → List Char → List Char → Prop
  | [], first, cs, rest => nextItem first cs = .ok (.closed rest)
  | item :: more, first, cs, rest =>
      ∃ body after, nextItem first cs = .ok (.item body) ∧ item.Spelled body after ∧
        SpelledItems more false after rest

def SpelledMembers : List (String × Json) → Bool → List Char → List Char → Prop
  | [], first, cs, rest => nextKey first cs = .ok (.closed rest)
  | (key, value) :: more, first, cs, rest =>
      ∃ quoted named body after, nextKey first cs = .ok (.item quoted) ∧ Scan.string quoted = .ok (key, named) ∧
        colon named = .ok body ∧ value.Spelled body after ∧ SpelledMembers more false after rest
end

section Read

variable {cs rest : List Char}

theorem word_ok {letters : List Char} (read : Scan.word letters cs = .ok rest) : cs = letters ++ rest := by
  induction letters generalizing cs with
  | nil =>
      cases read
      rfl
  | cons letter letters ih =>
      cases cs with
      | nil => simp [Scan.word] at read
      | cons c more =>
          rw [Scan.word] at read
          split at read
          · next same => rw [same, ih read, List.cons_append]
          · simp at read

theorem spelled_of_number {negative : Bool} {number : List Char} {value : Json}
    (read : Scan.number negative number = .ok (value, rest)) (spelled : SpelledNumber (Scan.skipSpace cs) rest) :
    value.Spelled cs rest := by
  have numbers : OfNumbers fun value => ∀ cs, SpelledNumber (Scan.skipSpace cs) rest → value.Spelled cs rest :=
    ⟨fun _ _ _ spelled => spelled, fun _ _ _ spelled => spelled⟩
  exact Scan.number_gives numbers negative read cs spelled

theorem scalar_spelled {value : Json} (read : readValue 0 cs = .ok (value, rest)) : value.Spelled cs rest := by
  simp only [readValue] at read
  split at read
  · simp at read
  · next starts =>
      obtain ⟨after, found, read⟩ := bind_ok read
      cases read
      exact starts.trans (congrArg ('n' :: ·) (word_ok found))
  · next starts =>
      obtain ⟨after, found, read⟩ := bind_ok read
      cases read
      exact starts.trans (congrArg ('t' :: ·) (word_ok found))
  · next starts =>
      obtain ⟨after, found, read⟩ := bind_ok read
      cases read
      exact starts.trans (congrArg ('f' :: ·) (word_ok found))
  · next starts =>
      obtain ⟨⟨text, after⟩, found, read⟩ := bind_ok read
      cases read
      exact ⟨_, starts, found⟩
  · simp at read
  · simp at read
  · next starts => exact spelled_of_number read (starts ▸ .negative (Skip.number_skipped read))
  · next starts =>
      split at read
      · next digit => exact spelled_of_number read (starts ▸ .natural digit (Skip.number_skipped read))
      · simp at read

variable {reader : Reader Json}

theorem items_spelled (each : ∀ {cs value rest}, reader cs = .ok (value, rest) → value.Spelled cs rest) {fuel : Nat}
    {first : Bool} {items : List Json} (read : readItems reader fuel first cs = .ok (items, rest)) :
    SpelledItems items first cs rest := by
  induction fuel generalizing first cs items with
  | zero => simp [readItems] at read
  | succ fuel ih =>
      rw [readItems] at read
      obtain ⟨step, next, read⟩ := bind_ok read
      cases step with
      | closed after =>
          cases read
          exact next
      | item body =>
          obtain ⟨⟨item, after⟩, found, read⟩ := bind_ok read
          obtain ⟨⟨more, last⟩, others, read⟩ := bind_ok read
          cases read
          exact ⟨body, after, next, each found, ih others⟩

theorem members_spelled (each : ∀ {cs value rest}, reader cs = .ok (value, rest) → value.Spelled cs rest)
    {fuel : Nat} {first : Bool} {members : List (String × Json)}
    (read : listMembers reader fuel first cs = .ok (members, rest)) : SpelledMembers members first cs rest := by
  induction fuel generalizing first cs members with
  | zero => simp [listMembers] at read
  | succ fuel ih =>
      rw [listMembers] at read
      obtain ⟨step, next, read⟩ := bind_ok read
      cases step with
      | closed after =>
          cases read
          exact next
      | item quoted =>
          obtain ⟨⟨key, named⟩, name, read⟩ := bind_ok read
          obtain ⟨body, mark, read⟩ := bind_ok read
          obtain ⟨⟨value, after⟩, found, read⟩ := bind_ok read
          obtain ⟨⟨more, last⟩, others, read⟩ := bind_ok read
          cases read
          exact ⟨quoted, named, body, after, next, name, mark, each found, ih others⟩

theorem written_spelled {depth : Nat} {value : Json} (read : readWritten depth cs = .ok (value, rest)) :
    value.Spelled cs rest := by
  induction depth generalizing cs value rest with
  | zero => exact scalar_spelled read
  | succ depth ih =>
      simp only [readWritten] at read
      split at read
      · next starts =>
          obtain ⟨⟨items, after⟩, found, read⟩ := bind_ok read
          cases read
          exact ⟨_, starts, items_spelled ih found⟩
      · next starts =>
          obtain ⟨⟨members, after⟩, found, read⟩ := bind_ok read
          cases read
          exact ⟨_, starts, members_spelled ih found⟩
      · exact scalar_spelled read

end Read

section Printed

theorem float_starts {x : Binary64} (canonical : x.Canonical) : Starts x.toJsonText := by
  obtain ⟨text, numeral, printed⟩ := float_printed canonical
  obtain ⟨c, more, starts, digit⟩ := numeral_starts numeral
  rw [printed, starts]
  cases x.negative with
  | false => exact starts_of_digit digit more
  | true => exact ⟨'-', c :: more, rfl, by decide, by decide⟩

theorem well_formed_starts {value : Json} (formed : value.WellFormed) : Starts (print value) :=
  print_starts_of fun x float => by subst float; exact float_starts formed

variable {rest : List Char}

theorem natural_spelled {text : List Char} (numeral : Numeral text) (stops : Scan.Stops rest) :
    SpelledNumber (Scan.skipSpace (text ++ rest)) rest := by
  have passed := numeral_passed numeral stops
  obtain ⟨c, more, starts, digit⟩ := numeral_starts numeral
  rw [starts, List.cons_append] at passed ⊢
  rw [skip_space_of_not_blank (Text.not_blank_of_digit digit)]
  exact .natural digit passed

theorem negative_spelled {text : List Char} (numeral : Numeral text) (stops : Scan.Stops rest) :
    SpelledNumber (Scan.skipSpace ('-' :: text ++ rest)) rest :=
  .negative (numeral_passed numeral stops)

theorem string_spelled (s : String) : (string s).Spelled (print (.string s) ++ rest) rest := by
  refine ⟨s.toList.flatMap escapeChar ++ '"' :: rest, ?_, Scan.string_printed s rest⟩
  simp [print, quoted, Scan.skipSpace, Scan.isSpace]

-- By recursion on the value; what is printed behind an item or a member cannot continue it.
mutual
theorem printed_spelled : ∀ {value : Json} {rest : List Char}, value.WellFormed → Scan.Stops rest →
    value.Spelled (print value ++ rest) rest
  | .null, _, _, _ => rfl
  | .bool true, _, _, _ => rfl
  | .bool false, _, _, _ => rfl
  | .int (.ofNat n), _, _, stops => natural_spelled (numeral_of_nat n) stops
  | .int (.negSucc n), _, _, stops => negative_spelled (numeral_of_nat (n + 1)) stops
  | .float x, rest, formed, stops => by
      obtain ⟨text, numeral, printed⟩ := float_printed formed
      show SpelledNumber (Scan.skipSpace (x.toJsonText ++ rest)) rest
      rw [printed]
      cases x.negative with
      | false => exact natural_spelled numeral stops
      | true => exact negative_spelled numeral stops
  | .string s, _, _, _ => string_spelled s
  | .array _, _, formed, _ => ⟨_, rfl, printed_items_spelled true formed⟩
  | .object _, _, formed, _ => ⟨_, rfl, printed_members_spelled true formed.2⟩

theorem printed_items_spelled : ∀ (first : Bool) {items : List Json} {rest : List Char}, WellFormedItems items →
    SpelledItems items first (printItems first items ++ rest) rest
  | true, [], _, _ => rfl
  | false, [], _, _ => rfl
  | first, item :: more, rest, formed => by
      have next := next_item_printed first (well_formed_starts formed.1) more rest
      exact ⟨_, _, next, printed_spelled formed.1 (stops_printed_items more rest),
        printed_items_spelled false formed.2⟩

theorem printed_members_spelled : ∀ (first : Bool) {members : List (String × Json)} {rest : List Char},
    WellFormedMembers members → SpelledMembers members first (printMembers first members ++ rest) rest
  | true, [], _, _ => rfl
  | false, [], _, _ => rfl
  | first, (key, value) :: more, rest, formed => by
      have next := next_key_printed first key value more rest
      have name := Scan.string_printed key (':' :: (print value ++ (printMembers false more ++ rest)))
      exact ⟨_, _, _, _, next, name, rfl, printed_spelled formed.1 (stops_printed_members more rest),
        printed_members_spelled false formed.2⟩
end

end Printed

end Delivery.Json
