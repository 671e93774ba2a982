import Delivery.Proofs.Json.Reading
set_option autoImplicit false

namespace Delivery.Json

open Entries

def listMembers (value : Reader Json) : Nat → Bool → Reader (List (String × Json))
  | 0, _, cs => Fault.here .endInObject cs
  | fuel + 1, first, cs => do
      match ← nextKey first cs with
      | .closed rest => .ok ([], rest)
      | .item rest =>
          let (key, rest) ← Scan.string rest
          let rest ← colon rest
          let (member, rest) ← value rest
          let (members, rest) ← listMembers value fuel false rest
          .ok ((key, member) :: members, rest)

-- Only arrays and objects are read otherwise than by `readValue`, which reads no such value at depth 0.
def readWritten : Nat → Reader Json
  | 0, cs => readValue 0 cs
  | depth + 1, cs =>
      match Scan.skipSpace cs with
      | '[' :: rest => do
          let (items, rest) ← readItems (readWritten depth) (rest.length + 1) true rest
          .ok (.array items, rest)
      | '{' :: rest => do
          let (members, rest) ← listMembers (readWritten depth) (rest.length + 1) true rest
          .ok (.object members, rest)
      | _ => readValue 0 cs

def asWritten (text : String) : Except DecodeError Json :=
  whole (readWritten depthLimit) text

mutual
def settled : Json → Json
  | .array items => .array (settledItems items)
  | .object members => .object (ofList (settledMembers members))
  | value => value

def settledItems : List Json → List Json
  | [] => []
  | item :: rest => item.settled :: settledItems rest

def settledMembers : List (String × Json) → List (String × Json)
  | [] => []
  | (key, value) :: rest => (key, value.settled) :: settledMembers rest
end

theorem settled_items_eq_map (items : List Json) : settledItems items = items.map settled := by
  induction items with
  | nil => rfl
  | cons item rest ih => simp [settledItems, ih]

theorem settled_members_eq_map (members : List (String × Json)) :
    settledMembers members = members.map fun entry => (entry.1, entry.2.settled) := by
  induction members with
  | nil => rfl
  | cons head rest ih => simp [settledMembers, ih]

theorem settled_of_readable_zero {value : Json} (readable : Readable 0 value) : value.settled = value := by
  cases value <;> simp_all [Readable, settled]

theorem settled_of_readable {depth : Nat} {value : Json} (readable : Readable depth value) :
    value.settled = value := by
  induction depth generalizing value with
  | zero => exact settled_of_readable_zero readable
  | succ depth ih =>
      cases value with
      | array items =>
          have same : items.map settled = items.map id :=
            List.map_congr_left fun item member => ih (readable item member)
          rw [settled, settled_items_eq_map, same, List.map_id]
      | object members =>
          have same : (members.map fun entry => (entry.1, entry.2.settled)) = members.map id :=
            List.map_congr_left fun entry member => by rw [ih (readable.2 entry member), id]
          rw [settled, settled_members_eq_map, same, List.map_id, ofList_of_sorted readable.1]
      | _ => rfl

-- Everything that is read can fail, and then both readers fail alike. The members before are those that
-- `readMembers` carries along.
theorem members_then_settled (value : Reader Json) (fuel : Nat) (first : Bool)
    (before : List (String × Json)) (cs : List Char) :
    readMembers (value.thenMap settled) fuel first before cs =
      Reader.thenMap (listMembers value fuel first)
        (fun listed => (settledMembers listed).foldl (fun sorted entry => insert entry.1 entry.2 sorted) before)
        cs := by
  induction fuel generalizing first before cs with
  | zero => rfl
  | succ fuel ih =>
      simp only [readMembers, listMembers, Reader.thenMap] at ih ⊢
      cases nextKey first cs with
      | error fault => rfl
      | ok step =>
          cases step with
          | closed rest => rfl
          | item rest =>
              cases key : Scan.string rest with
              | error fault => simp [key, bind, Except.bind, Except.map]
              | ok name =>
                  cases mark : colon name.2 with
                  | error fault => simp [key, mark, bind, Except.bind, Except.map]
                  | ok after =>
                      cases read : value after with
                      | error fault => simp [key, mark, read, bind, Except.bind, Except.map]
                      | ok member =>
                          cases more : listMembers value fuel false member.2 <;>
                            simp [key, mark, read, ih, more, settledMembers, bind, Except.bind, Except.map]

theorem read_value_eq_settled (depth : Nat) : readValue depth = (readWritten depth).thenMap settled := by
  induction depth with
  | zero =>
      funext cs
      cases read : readValue 0 cs with
      | error fault => simp [readWritten, Reader.thenMap, read, Except.map]
      | ok found =>
          have same : found.1.settled = found.1 := settled_of_readable_zero (read_value_zero_gives read)
          simp [readWritten, Reader.thenMap, read, same, Except.map]
  | succ depth ih =>
      funext cs
      by_cases array : ∃ after, Scan.skipSpace cs = '[' :: after
      · obtain ⟨after, starts⟩ := array
        rw [read_value_array starts, ih, items_then_map]
        cases read : readItems (readWritten depth) (after.length + 1) true after <;>
          simp [readWritten, starts, Reader.thenMap, read, settled, settled_items_eq_map, bind, Except.bind, Except.map]
      · by_cases object : ∃ after, Scan.skipSpace cs = '{' :: after
        · obtain ⟨after, starts⟩ := object
          rw [read_value_object starts, ih, members_then_settled]
          cases read : listMembers (readWritten depth) (after.length + 1) true after <;>
            simp [readWritten, starts, Reader.thenMap, read, settled, ofList, bind, Except.bind, Except.map]
        · have other : readWritten (depth + 1) cs = readValue 0 cs := by
            simp only [readWritten]
            split <;> simp_all
          rw [read_value_other (not_exists.mp array) (not_exists.mp object)]
          cases read : readValue 0 cs with
          | error fault => simp [Reader.thenMap, other, read, Except.map]
          | ok found =>
              have same : found.1.settled = found.1 := settled_of_readable_zero (read_value_zero_gives read)
              simp [Reader.thenMap, other, read, same, Except.map]

theorem whole_then_map {α β : Type} (reader : Reader α) (change : α → β) (text : String) :
    whole (reader.thenMap change) text = (whole reader text).map change := by
  cases read : reader text.toList with
  | error fault => simp [whole, Reader.thenMap, read, bind, Except.bind, Except.map]
  | ok found =>
      cases ended : Scan.skipSpace found.2 <;>
        simp [whole, Reader.thenMap, read, ended, Fault.next, bind, Except.bind, Except.map]

/-- The value of a text is the text as it is written, with the last member of each key. -/
theorem parse_eq_settled (text : String) : parse text = (asWritten text).map settled := by
  rw [parse, read_value_eq_settled, whole_then_map, asWritten]

end Delivery.Json
