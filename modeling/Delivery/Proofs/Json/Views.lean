import Delivery.Json.Schema
import Delivery.Proofs.Json.Passing
set_option autoImplicit false

namespace Delivery.Json.Schema

abbrev View := Json → Option Json

def viewBool : View
  | .bool b => some (.bool b)
  | _ => none

def viewString : View
  | .string s => some (.string s)
  | _ => none

def viewList (item : View) : View
  | .array items => (items.mapM item).map .array
  | _ => none

def viewFor? (key : String) : List (String × View) → Option View
  | [] => none
  | (name, view) :: rest => if name = key then some view else viewFor? key rest

def viewNamed (views : List (String × View)) (before : List (String × Json)) :
    List (String × Json) → Option (List (String × Json))
  | [] => some before
  | (key, value) :: rest =>
      match viewFor? key views with
      | none => viewNamed views before rest
      | some view =>
          if Entries.contains key before then none
          else (view value).bind fun seen => viewNamed views (Entries.insert key seen before) rest

def viewPositional : List (String × View) → List (String × Json) → List Json → Option (List (String × Json))
  | _, before, [] => some before
  | [], _, _ :: _ => none
  | (name, view) :: views, before, item :: rest =>
      (view item).bind fun seen => viewPositional views (Entries.insert name seen before) rest

def viewRecord (views : List (String × View)) : View
  | .object members => (viewNamed views [] members).map .object
  | .array items => (viewPositional views [] items).map .object
  | _ => none

mutual
def view : Schema → View
  | .bool => viewBool
  | .string => viewString
  | .list item => viewList (view item)
  | .record _ fields => viewRecord (views fields)

def views : List (String × Schema) → List (String × View)
  | [] => []
  | (name, schema) :: rest => (name, view schema) :: views rest
end

def Shows (reader : Reader Json) (view : View) : Prop :=
  ∀ ⦃value cs rest⦄, value.Spelled cs rest → (reader cs).toOption = (view value).map fun seen => (seen, rest)

section Scalars

theorem to_option_bind {α β ε : Type} (outcome : Except ε α) (next : α → Except ε β) :
    (outcome >>= next).toOption = outcome.toOption.bind fun value => (next value).toOption := by
  cases outcome <;> rfl

@[simp] theorem mismatch_none {α : Type} (wanted : Wanted) (cs : List Char) :
    (mismatch wanted cs : Except Fault α).toOption = none := by
  unfold mismatch
  split
  · rfl
  · rfl
  · rw [to_option_bind]
    cases (readValue 0 cs).toOption <;> rfl

def Opens : Json → Char → Prop
  | .null, c => c = 'n'
  | .bool _, c => c = 't' ∨ c = 'f'
  | .int _, c => c = '-' ∨ c.isDigit = true
  | .float _, c => c = '-' ∨ c.isDigit = true
  | .string _, c => c = '"'
  | .array _, c => c = '['
  | .object _, c => c = '{'

theorem number_opens {cs rest : List Char} (spelled : SpelledNumber cs rest) :
    ∃ c more, cs = c :: more ∧ (c = '-' ∨ c.isDigit = true) := by
  cases spelled with
  | negative passed => exact ⟨_, _, rfl, .inl rfl⟩
  | natural digit passed => exact ⟨_, _, rfl, .inr digit⟩

theorem spelled_opens {value : Json} {cs rest : List Char} (spelled : value.Spelled cs rest) :
    ∃ c more, Scan.skipSpace cs = c :: more ∧ Opens value c := by
  cases value with
  | null => exact ⟨_, _, spelled, rfl⟩
  | bool b =>
      cases b with
      | true => exact ⟨_, _, spelled, .inl rfl⟩
      | false => exact ⟨_, _, spelled, .inr rfl⟩
  | int n => exact number_opens spelled
  | float x => exact number_opens spelled
  | string s =>
      obtain ⟨body, starts, _⟩ := spelled
      exact ⟨_, _, starts, rfl⟩
  | array items =>
      obtain ⟨body, starts, _⟩ := spelled
      exact ⟨_, _, starts, rfl⟩
  | object members =>
      obtain ⟨body, starts, _⟩ := spelled
      exact ⟨_, _, starts, rfl⟩

theorem bool_shows : Shows readBool viewBool := by
  intro value cs rest spelled
  cases value with
  | bool b =>
      cases b with
      | true =>
          have starts : Scan.skipSpace cs = _ := spelled
          simp [readBool, starts, Scan.word, viewBool, bind, Except.bind, Except.toOption]
      | false =>
          have starts : Scan.skipSpace cs = _ := spelled
          simp [readBool, starts, Scan.word, viewBool, bind, Except.bind, Except.toOption]
  | _ =>
      obtain ⟨c, more, starts, opens⟩ := spelled_opens spelled
      simp only [readBool, starts, viewBool]
      split <;> simp_all [Opens]

theorem string_shows : Shows readString viewString := by
  intro value cs rest spelled
  cases value with
  | string s =>
      obtain ⟨body, starts, read⟩ := spelled
      simp [readString, starts, read, viewString, bind, Except.bind, Except.toOption]
  | _ =>
      obtain ⟨c, more, starts, opens⟩ := spelled_opens spelled
      simp only [readString, starts, viewString]
      split <;> simp_all [Opens]

end Scalars

section Lists

variable {item : Reader Json} {seen : View}

theorem items_show (shows : Shows item seen) {items : List Json} {fuel : Nat} {first : Bool} {cs rest : List Char}
    (spelled : SpelledItems items first cs rest) (enough : cs.length < fuel) :
    (readItems item fuel first cs).toOption = (items.mapM seen).map fun values => (values, rest) := by
  obtain ⟨fuel, rfl⟩ := Nat.exists_eq_add_one_of_ne_zero (Nat.ne_zero_of_lt enough)
  induction items generalizing fuel first cs with
  | nil =>
      have closed : nextItem first cs = .ok (.closed rest) := spelled
      rw [readItems, closed]
      rfl
  | cons value more ih =>
      obtain ⟨body, after, next, inside, others⟩ := spelled
      have shorter := (spelled_shorter inside).trans_le (next_item_shorter next)
      obtain ⟨fuel, rfl⟩ := Nat.exists_eq_add_one_of_ne_zero (n := fuel) (by omega)
      have step : readItems item (fuel + 1 + 1) first cs =
          item body >>= fun read => readItems item (fuel + 1) false read.2 >>= fun later =>
            .ok (read.1 :: later.1, later.2) := by
        rw [readItems, next]
        rfl
      rw [step, to_option_bind, shows inside, List.mapM_cons]
      cases seen value with
      | none => rfl
      | some here =>
          simp only [Option.map_some, Option.bind_some, to_option_bind, ih others fuel (by omega)]
          cases more.mapM seen <;> rfl

theorem list_shows (shows : Shows item seen) : Shows (readList item) (viewList seen) := by
  intro value cs rest spelled
  cases value with
  | array items =>
      obtain ⟨body, starts, inside⟩ := spelled
      have step : readList item cs =
          readItems item (body.length + 1) true body >>= fun read => .ok (.array read.1, read.2) := by
        simp only [readList, starts]
      rw [step, to_option_bind, items_show shows inside (Nat.lt_succ_self _), viewList]
      cases items.mapM seen <;> rfl
  | _ =>
      obtain ⟨c, more, starts, opens⟩ := spelled_opens spelled
      simp only [readList, starts, viewList]
      split <;> simp_all [Opens]

end Lists

section Records

def ShowFields (readers : List (String × Reader Json)) (views : List (String × View)) : Prop :=
  List.Forall₂ (fun reader view => reader.1 = view.1 ∧ Shows reader.2 view.2) readers views

variable {readers : List (String × Reader Json)} {views : List (String × View)}

theorem field_shows (shown : ShowFields readers views) (key : String) :
    (readerFor? key readers = none ∧ viewFor? key views = none) ∨
      ∃ reader view, readerFor? key readers = some reader ∧ viewFor? key views = some view ∧
        Shows reader view := by
  induction shown with
  | nil => exact .inl ⟨rfl, rfl⟩
  | @cons reader view readers views shows others ih =>
      obtain ⟨same, shows⟩ := shows
      by_cases own : view.1 = key
      · rw [readerFor?, viewFor?, if_pos own, if_pos (same.trans own)]
        exact .inr ⟨reader.2, view.2, rfl, rfl, shows⟩
      · rw [readerFor?, viewFor?, if_neg own, if_neg (same ▸ own)]
        exact ih

theorem duplicate_none {α : Type} (name : String) (cs : List Char) :
    (duplicate name cs : Except Fault α).toOption = none := by
  unfold duplicate
  split <;> rfl

theorem named_shows (shown : ShowFields readers views) {members : List (String × Json)} {fuel : Nat} {first : Bool}
    {before : List (String × Json)} {cs rest : List Char} (spelled : SpelledMembers members first cs rest)
    (enough : cs.length < fuel) :
    (readNamed readers fuel first before cs).toOption =
      (viewNamed views before members).map fun seen => (seen, rest) := by
  obtain ⟨fuel, rfl⟩ := Nat.exists_eq_add_one_of_ne_zero (Nat.ne_zero_of_lt enough)
  induction members generalizing fuel first before cs with
  | nil =>
      have closed : nextKey first cs = .ok (.closed rest) := spelled
      rw [readNamed, closed]
      rfl
  | cons member more ih =>
      obtain ⟨key, value⟩ := member
      obtain ⟨quoted, named, body, after, next, name, mark, inside, others⟩ := spelled
      have shorter := (((spelled_shorter inside).trans (skip_space_shorter (colon_iff.mp mark))).trans
        (string_shorter name)).trans (next_key_shorter next)
      obtain ⟨fuel, rfl⟩ := Nat.exists_eq_add_one_of_ne_zero (n := fuel) (by omega)
      rcases field_shows shown key with ⟨noReader, noView⟩ | ⟨reader, view, found, seen, shows⟩
      · have step : readNamed readers (fuel + 1 + 1) first before cs =
            readNamed readers (fuel + 1) false before after := by
          rw [readNamed, next]
          simp only [bind, Except.bind, name, noReader, mark, value_passed inside]
        rw [step, ih others fuel (by omega), viewNamed, noView]
      · by_cases again : Entries.contains key before = true
        · have step : readNamed readers (fuel + 1 + 1) first before cs = duplicate key named := by
            rw [readNamed, next]
            simp only [bind, Except.bind, name, found, if_pos again]
          rw [step, duplicate_none, viewNamed, seen]
          dsimp only
          rw [if_pos again, Option.map_none]
        · have step : readNamed readers (fuel + 1 + 1) first before cs =
              reader body >>= fun read =>
                readNamed readers (fuel + 1) false (Entries.insert key read.1 before) read.2 := by
            rw [readNamed, next]
            simp only [bind, Except.bind, name, found, if_neg again, mark]
          rw [step, to_option_bind, shows inside, viewNamed, seen]
          dsimp only
          rw [if_neg again]
          cases view value with
          | none => rfl
          | some here =>
              simp only [Option.map_some, Option.bind_some]
              exact ih others fuel (by omega)

theorem end_of_items_none {first : Bool} {cs body : List Char} (next : nextItem first cs = .ok (.item body)) :
    (endOfItems cs).toOption = none := by
  cases next_item_iff.mp next with
  | first starts opens =>
      simp only [endOfItems, starts]
      split
      · rfl
      · next same =>
          obtain ⟨bracket, _⟩ := List.cons.inj same
          exact absurd bracket opens
      · split <;> rfl
      · rfl
  | later starts begins opens =>
      simp only [endOfItems, starts]
      split <;> rfl

theorem positional_shows (shown : ShowFields readers views) {items : List Json} {first : Bool}
    {before : List (String × Json)} {cs rest : List Char} (spelled : SpelledItems items first cs rest) :
    (readPositional readers first before cs).toOption =
      (viewPositional views before items).map fun seen => (seen, rest) := by
  induction shown generalizing items first before cs with
  | nil =>
      cases items with
      | nil =>
          cases next_item_iff.mp spelled with
          | closed starts =>
              simp only [readPositional, endOfItems, starts]
              rfl
      | cons item more =>
          obtain ⟨body, after, next, _⟩ := spelled
          rw [readPositional, to_option_bind, end_of_items_none next]
          rfl
  | @cons reader view readers views shows others ih =>
      obtain ⟨name, reader⟩ := reader
      obtain ⟨seen, view⟩ := view
      obtain ⟨same, shows⟩ := shows
      dsimp only at same shows
      subst same
      cases items with
      | nil =>
          have closed : nextItem first cs = .ok (.closed rest) := spelled
          rw [readPositional, closed]
          rfl
      | cons item more =>
          obtain ⟨body, after, next, inside, later⟩ := spelled
          have step : readPositional ((name, reader) :: readers) first before cs =
              reader body >>= fun read => readPositional readers false (Entries.insert name read.1 before) read.2 := by
            rw [readPositional, next]
            rfl
          rw [step, to_option_bind, shows inside, viewPositional]
          cases view item with
          | none => rfl
          | some here => exact ih later

theorem record_shows (shown : ShowFields readers views) (name : String) :
    Shows (readRecord name readers) (viewRecord views) := by
  intro value cs rest spelled
  cases value with
  | object members =>
      obtain ⟨body, starts, inside⟩ := spelled
      have step : readRecord name readers cs =
          readNamed readers (body.length + 1) true [] body >>= fun read => .ok (.object read.1, read.2) := by
        simp only [readRecord, starts]
      rw [step, to_option_bind, named_shows shown inside (Nat.lt_succ_self _), viewRecord]
      cases viewNamed views [] members <;> rfl
  | array items =>
      obtain ⟨body, starts, inside⟩ := spelled
      have step : readRecord name readers cs =
          readPositional readers true [] body >>= fun read => .ok (.object read.1, read.2) := by
        simp only [readRecord, starts]
      rw [step, to_option_bind, positional_shows shown inside, viewRecord]
      cases viewPositional views [] items <;> rfl
  | _ =>
      obtain ⟨c, more, starts, opens⟩ := spelled_opens spelled
      simp only [readRecord, starts, viewRecord]
      split <;> simp_all [Opens]

end Records

mutual
/-- A typed reader gives what its type shows of the value that is spelled, and leaves what stands behind. -/
theorem read_shows : ∀ schema : Schema, Shows schema.read schema.view
  | .bool => bool_shows
  | .string => string_shows
  | .list item => list_shows (read_shows item)
  | .record name fields => record_shows (readers_show fields) name

theorem readers_show : ∀ fields : List (String × Schema), ShowFields (readers fields) (views fields)
  | [] => .nil
  | (_, schema) :: rest => .cons ⟨rfl, read_shows schema⟩ (readers_show rest)
end

end Delivery.Json.Schema
