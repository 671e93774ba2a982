import Delivery.Proofs.Json.Merge
import Delivery.Proofs.Json.Numbers
set_option autoImplicit false

namespace Delivery.Json

open Entries

def Readable : Nat → Json → Prop
  | _, .int n => fitsInteger n = true
  | 0, .array _ => False
  | 0, .object _ => False
  | depth + 1, .array items => ∀ item ∈ items, Readable depth item
  | depth + 1, .object members => Sorted members ∧ ∀ entry ∈ members, Readable depth entry.2
  | _, _ => True

structure OfScalars (property : Json → Prop) : Prop extends OfNumbers property where
  null : property .null
  bool : ∀ b, property (.bool b)
  string : ∀ s, property (.string s)

section Dispatch

variable {depth : Nat} {cs rest : List Char}

theorem read_value_array (starts : Scan.skipSpace cs = '[' :: rest) :
    readValue (depth + 1) cs =
      (do
        let (items, rest) ← readItems (readValue depth) (rest.length + 1) true rest
        .ok (.array items, rest)) := by
  simp only [readValue, starts]

theorem read_value_object (starts : Scan.skipSpace cs = '{' :: rest) :
    readValue (depth + 1) cs =
      (do
        let (members, rest) ← readMembers (readValue depth) (rest.length + 1) true [] rest
        .ok (.object members, rest)) := by
  simp only [readValue, starts]

theorem read_value_other (array : ∀ rest, Scan.skipSpace cs ≠ '[' :: rest)
    (object : ∀ rest, Scan.skipSpace cs ≠ '{' :: rest) : readValue depth cs = readValue 0 cs := by
  cases depth with
  | zero => rfl
  | succ depth =>
      simp only [readValue]
      split <;> simp_all

theorem read_scalar_gives {property : Json → Prop} (each : OfScalars property) : (readValue 0).Gives property := by
  intro cs value rest read
  simp only [readValue] at read
  split at read
  · simp at read
  · obtain ⟨_, _, read⟩ := bind_ok read
    cases read
    exact each.null
  · obtain ⟨_, _, read⟩ := bind_ok read
    cases read
    exact each.bool true
  · obtain ⟨_, _, read⟩ := bind_ok read
    cases read
    exact each.bool false
  · obtain ⟨_, _, read⟩ := bind_ok read
    cases read
    exact each.string _
  · simp at read
  · simp at read
  · exact Scan.number_gives each.toOfNumbers true read
  · split at read
    · exact Scan.number_gives each.toOfNumbers false read
    · simp at read

end Dispatch

structure OfValues (property : Nat → Json → Prop) : Prop where
  scalar : ∀ depth, OfScalars (property depth)
  array : ∀ {depth items}, (∀ item ∈ items, property depth item) → property (depth + 1) (.array items)
  object : ∀ {depth members}, Sorted members → (∀ entry ∈ members, property depth entry.2) →
    property (depth + 1) (.object members)

theorem read_value_gives_each {property : Nat → Json → Prop} (each : OfValues property) (depth : Nat) :
    (readValue depth).Gives (property depth) := by
  induction depth with
  | zero => exact read_scalar_gives (each.scalar 0)
  | succ depth ih =>
      intro cs value rest read
      by_cases array : ∃ after, Scan.skipSpace cs = '[' :: after
      · obtain ⟨after, starts⟩ := array
        rw [read_value_array starts] at read
        obtain ⟨⟨items, after⟩, found, read⟩ := bind_ok read
        cases read
        exact each.array (items_gives ih _ _ found)
      · by_cases object : ∃ after, Scan.skipSpace cs = '{' :: after
        · obtain ⟨after, starts⟩ := object
          rw [read_value_object starts] at read
          obtain ⟨⟨members, after⟩, found, read⟩ := bind_ok read
          cases read
          obtain ⟨sorted, every⟩ := members_gives ih _ _ sorted_nil (by simp) found
          exact each.object sorted every
        · rw [read_value_other (not_exists.mp array) (not_exists.mp object)] at read
          exact read_scalar_gives (each.scalar (depth + 1)) read

theorem readable_scalars (depth : Nat) : OfScalars (Readable depth) := by
  cases depth with
  | zero =>
      exact { word := fun _ fits => fits, float := fun _ _ => trivial, null := trivial, bool := fun _ => trivial,
              string := fun _ => trivial }
  | succ depth =>
      exact { word := fun _ fits => fits, float := fun _ _ => trivial, null := trivial, bool := fun _ => trivial,
              string := fun _ => trivial }

theorem read_value_zero_gives : (readValue 0).Gives (Readable 0) :=
  read_scalar_gives (readable_scalars 0)

theorem read_value_gives (depth : Nat) : (readValue depth).Gives (Readable depth) :=
  read_value_gives_each ⟨readable_scalars, fun every => every, fun sorted every => ⟨sorted, every⟩⟩ depth

theorem read_value_well_formed (depth : Nat) : (readValue depth).Gives WellFormed := by
  have scalars : OfScalars WellFormed :=
    { word := fun _ fits => fits, float := fun _ canonical => canonical, null := trivial, bool := fun _ => trivial,
      string := fun _ => trivial }
  have values : OfValues fun _ => WellFormed :=
    { scalar := fun _ => scalars, array := well_formed_items_iff.mpr,
      object := fun sorted every => ⟨sorted, well_formed_members_iff.mpr every⟩ }
  exact read_value_gives_each values depth

section Whole

variable {α : Type} {reader : Reader α}

theorem whole_ok {text : String} {value : α} (read : whole reader text = .ok value) :
    ∃ rest, reader text.toList = .ok (value, rest) ∧ Scan.skipSpace rest = [] := by
  simp only [whole] at read
  split at read
  · next ran =>
      cases read
      obtain ⟨⟨value, rest⟩, found, ran⟩ := bind_ok ran
      simp only at ran
      split at ran
      · next ended =>
          cases ran
          exact ⟨rest, found, ended⟩
      · simp at ran
  · cases read

theorem whole_of_read {text : String} {value : α} (found : reader text.toList = .ok (value, [])) :
    whole reader text = .ok value := by
  simp [whole, found, Scan.skipSpace, bind, Except.bind]

end Whole

theorem parse_readable {text : String} {value : Json} (parsed : parse text = .ok value) :
    Readable depthLimit value := by
  obtain ⟨rest, found, _⟩ := whole_ok parsed
  exact read_value_gives depthLimit found

theorem parse_well_formed {text : String} {value : Json} (parsed : parse text = .ok value) : value.WellFormed := by
  obtain ⟨rest, found, _⟩ := whole_ok parsed
  exact read_value_well_formed depthLimit found

end Delivery.Json
